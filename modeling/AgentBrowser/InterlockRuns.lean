import AgentBrowser.InterlockCustody

namespace AgentBrowser.Interlock
open Durable
set_option autoImplicit true

section Releasing
variable {r : Receipt} {n : Prop} {P : World → Prop}

/-- The intent is recorded, and if `n` then the lock path is free of its marker. -/
def Kept (r : Receipt) (n : Prop) (w : World) : Prop := Recorded r w ∧ (n → Free r w)

/-- The intent was carried out, and if `n` then the lock path is free of its marker. -/
def Restored (r : Receipt) (n : Prop) (w : World) : Prop :=
  w.timer = r.priorTimerState ∧ w.receipt = none ∧ (n → Free r w)

/-- A custody of the receipt. -/
def Holds (k : Nat) (r : Receipt) (native : Bool) (w : World) : Prop :=
  ∃ h, w.handles k = some h ∧ h.receipt = r ∧ h.native = native

theorem Holds.setHandle {f : Handle → Handle} {w : World}
    (hf : ∀ h, (f h).receipt = h.receipt ∧ (f h).native = h.native) (h : Holds k r native w) :
    Holds k r native (w.setHandle j f) := by
  obtain ⟨x, hx, hr, hn⟩ := h
  by_cases hj : k = j
  · refine ⟨f x, ?_, (hf x).1.trans hr, (hf x).2.trans hn⟩
    simp only [World.setHandle, hj ▸ hx, hj, ↓reduceIte, Option.map_some]
  · refine ⟨x, ?_, hr, hn⟩
    simp only [World.setHandle, hj, ↓reduceIte, hx]

theorem unlinkLock_does : Does (fun w => Recorded r w ∧ Marked r (.lock r.lockPath) w)
    (.call (.unlinkLock r.lockPath r.id) fun x => (.ofExcept x : Script Unit))
    fun _ => Kept r True := by
  apply Does.effect (r := fun _ _ => ()) (d := fun w _ =>
    { w.setMarker (.lock r.lockPath) none with
      removed := (r.id, (w.markers (.lock r.lockPath)).bind w.payload) :: w.removed })
  · rintro w c x v ⟨_, i, hm, _⟩ he
    refine .inr (Eq.trans ?_ (Option.some.inj he))
    simp only [World.unlinkLock, hm, Option.bind_some]
  · rintro w c hi ⟨hr, i, hm, hp⟩
    refine ⟨⟨hi.settled, hi.recorded, hi.handles, hi.named, ?_⟩, hr, fun _ j hj => ?_⟩
    · refine List.forall_mem_cons.mpr ⟨?_, hi.removed⟩
      rw [hm]
      exact hp
    · simp only [World.setMarker, Function.update_self, reduceCtorEq] at hj

theorem nativeRelease_does (hn : n → h.held = true) :
    Does (Recorded h.receipt) (nativeRelease k h) fun _ => Kept h.receipt n := by
  refine Does.onlyIf (fun _ => ?_) ?_
  · refine verify_does.bind fun _ => Does.pre (P := Recorded h.receipt) ?_ fun _ _ hw => hw.1
    refine verify_does.bind fun _ => unlinkLock_does.bind fun _ => flush_does.bind fun _ => ?_
    exact Does.post (assign_does (fun _ => ⟨rfl, rfl⟩) fun _ hw => hw)
      fun _ _ _ hw => ⟨hw.1, fun _ => hw.2 trivial⟩
  · intro hf w hr
    refine ⟨hr, fun hn' => ?_⟩
    rw [hn hn'] at hf
    cases hf

theorem unlinkReceipt_does : Does (fun w => w.timer = r.priorTimerState ∧ Kept r n w)
    (.call .unlinkReceipt fun x => (.ofExcept x : Script Unit)) fun _ => Restored r n := by
  apply Does.effect (r := fun _ _ => ()) (d := fun w _ => { w with receipt := none })
  · rintro w c x v ⟨_, hr, _⟩ he
    refine .inr (Eq.trans ?_ (Option.some.inj he))
    simp only [World.unlinkReceipt, show w.receipt = _ from hr, Option.isSome_some, ↓reduceIte]
  · rintro w c hi ⟨ht, hr, hf⟩
    have hprior := (hi.recorded r hr).1
    refine ⟨⟨fun _ => ht.trans hprior, nofun, ?_, hi.named, hi.removed⟩, ht, rfl, hf⟩
    intro j x hx
    obtain ⟨h₁, h₂, _⟩ := hi.handles j x hx
    exact ⟨h₁, h₂, nofun⟩

theorem unlinkStage_does
    (hp : ∀ w : World, P w → P (w.setMarker (.stage lockPath name) none)) :
    Does P (.call (.unlinkStage lockPath name) fun x => (.ofExcept x : Script Unit))
      fun _ => P := by
  apply Does.effect (r := fun _ _ => ())
    (d := fun w _ => w.setMarker (.stage lockPath name) none)
  · intro w c x v _ he
    have he : w.unlinkStage c lockPath name = (x, v) := Option.some.inj he
    simp only [World.unlinkStage] at he
    split at he
    · exact .inr he
    · cases he
      exact .inl ⟨_, rfl, rfl⟩
  · exact fun w c hi hw => ⟨hi.setMarker, hp w hw⟩

theorem Restored.unstage {w : World} (h : Restored r n w) :
    Restored r n (w.setMarker (.stage lockPath name) none) := by
  refine ⟨h.1, h.2.1, fun hn i hm => h.2.2 hn i ?_⟩
  have hne : MarkerPath.lock r.lockPath ≠ .stage lockPath name := by
    intro he
    cases he
  simpa only [World.setMarker, Function.update_of_ne hne] using hm

theorem nativeCleanup_does : Does (Restored r n) (nativeCleanup h) fun _ => Restored r n := by
  refine verify_does.bind fun _ => Does.pre (P := Restored r n) ?_ fun _ _ hw => hw.1
  have hunlink : Does (Restored r n) (.call (.unlinkStage h.receipt.lockPath h.receipt.id)
      fun x => (.ofExcept x : Script Unit)) fun _ => Restored r n :=
    unlinkStage_does fun _ hw => hw.unstage
  exact hunlink.bind fun _ => flush_does

/-- The receipt on file is the handle's own if it has its identifier. -/
theorem Holds.kept {w : World} (hi : Inv w) (hh : Holds k r native w) (hr : Recorded saved w)
    (hid : saved.id = r.id) : Kept r (native = false) w := by
  obtain ⟨h, hh, rfl, rfl⟩ := hh
  obtain ⟨_, hplain, hsame⟩ := hi.handles k h hh
  obtain rfl := hsame saved hr hid
  exact ⟨hr, fun hn i _ => hplain hn i⟩

theorem rearm_does : Does (Kept h.receipt n) (do
    let current ← state interlockTimer
    Prog.onlyIf (current ≠ h.receipt.priorTimerState)
      (systemctl (if h.receipt.priorTimerState = "active" then "start" else "stop"))
    let restored ← state interlockTimer
    Prog.ensure (restored = h.receipt.priorTimerState)
      "Interlock timer restoration verification failed; custody receipt retained"
    .call .unlinkReceipt fun x => (.ofExcept x : Script Unit)
    flush
    assign k fun x => { x with released := true }
    Prog.onlyIf h.native (nativeCleanup h)) fun _ => Restored h.receipt n := by
  refine state_does.bind fun current => Does.pre (P := Kept h.receipt n) ?_ fun _ _ hw => hw.1
  refine (Does.onlyIf (fun _ => ?_) fun _ _ hw => hw).bind fun _ => ?_
  · exact systemctl_does (fun _ hw => ⟨_, hw.1⟩) fun _ _ hw => hw
  refine state_does.bind fun restored => Does.ensure.bind fun _ => Does.given fun hr => ?_
  refine Does.pre (P := fun w => w.timer = h.receipt.priorTimerState ∧ Kept h.receipt n w) ?_
    fun w _ hw => ⟨(hw.2 rfl).symm.trans (by simpa using hr), hw.1⟩
  refine unlinkReceipt_does.bind fun _ => flush_does.bind fun _ => ?_
  refine Does.bind (assign_does ?_ fun _ hw => hw) fun _ => ?_
  · exact fun _ => ⟨rfl, rfl⟩
  · exact Does.onlyIf (fun _ => nativeCleanup_does) fun _ _ hw => hw

/-- A release that comes from a handle with these variables and succeeds restores what is
recorded. -/
theorem release_does : Does (fun w => w.handles k = some h) (release k) fun _ w =>
    h.released = false → Restored h.receipt (h.native = true → h.held = true) w := by
  refine handle_does.bind fun x => ?_
  refine Does.pre (P := fun w => x = h ∧ w.handles k = some h) (Does.given ?_)
    fun w _ hw => ⟨Option.some.inj (hw.2.symm.trans hw.1), hw.1⟩
  rintro rfl
  cases hr : x.released with
  | true => exact .pure fun w _ hf => nomatch hf
  | false =>
    let n : Prop := x.native = true → x.held = true
    have hlocked : Does (Kept x.receipt (x.native = false))
        (.onlyIf x.native (nativeRelease k x)) fun _ => Kept x.receipt n := by
      refine Does.onlyIf (fun hn => ?_) fun hn w hw => ⟨hw.1, fun _ => hw.2 hn⟩
      exact Does.pre (nativeRelease_does fun h => h hn) fun _ _ hw => hw.1
    refine Does.pre (P := Holds k x.receipt x.native) ?_ fun w _ hw => ⟨x, hw, rfl, rfl⟩
    refine Does.bind (assign_does ?_ fun w hw => hw.setHandle ?_) fun _ => ?_
    · exact fun _ => ⟨rfl, rfl⟩
    · exact fun _ => ⟨rfl, rfl⟩
    refine readReceipt_does.bind fun saved => Does.ensure.bind fun _ => ?_
    refine Does.pre (P := Kept x.receipt (x.native = false)) ?_ ?_
    · exact Does.post (hlocked.bind fun _ => rearm_does) fun _ _ _ hw _ => hw
    · exact fun w hi hw => hw.2.1.kept hi hw.2.2 (by simpa using hw.1)

/-- Whatever its handle, a release keeps the invariant. -/
theorem release_keeps : Does P (release k) fun _ _ => True := by
  intro w hi _
  cases hk : w.handles k with
  | some h => exact Does.post release_does (fun _ _ _ _ => trivial) w hi hk
  | none =>
    rintro _ rfl _ c x v he
    obtain ⟨h, hh, _⟩ := Option.map_eq_some_iff.mp he
    rw [hk] at hh
    cases hh

theorem retainForRecovery_keeps : Does (fun _ => True) (retainForRecovery k) fun _ _ => True := by
  have htrue {α : Type} {p : Script α} {P : World → Prop}
      (h : Does (fun _ => True) p fun _ _ => True) : Does P p fun _ _ => True :=
    h.pre fun _ _ _ => trivial
  refine handle_does.bind fun h => htrue ?_
  refine Does.ensure.bind fun _ => htrue (readReceipt_does.bind fun saved => htrue ?_)
  refine Does.ensure.bind fun _ => htrue (state_does.bind fun current => htrue ?_)
  refine Does.ensure.bind fun _ => htrue (assign_does ?_ fun _ _ => trivial)
  exact fun _ => ⟨rfl, rfl⟩

end Releasing

section Acquiring
variable {r : Receipt} {P : World → Prop} {ρ : Option ReceiptFile}

/-- The rule for a call whose answer is taken apart. -/
theorem Does.call {o : Op} {k : o.Ret → Script α} {Q : α → World → Prop}
    (h : ∀ w c x v, Inv w → P w → exec o c w = some (x, v) → Inv v)
    (hk : ∀ x, Does (fun _ => True) (k x) Q) : Does P (.call o k) Q := by
  rintro w hi hw _ rfl _ c x v he
  have hv := h w c x v hi hw he
  exact ⟨hv, trivial, hk x v hv trivial⟩

theorem Does.any {p : Script α} (h : Does (fun _ => True) p fun _ _ => True) :
    Does P p fun _ _ => True := h.pre fun _ _ _ => trivial

theorem linkMarker_does : Does P (linkMarker r recovering) fun _ _ => True := by
  apply Does.call
  · intro w c x v hi _ he
    have he : w.link c r.lockPath r.id = (x, v) := Option.some.inj he
    simp only [World.link] at he
    split at he
    · cases he
      exact hi
    · cases he
      exact hi
    · rename_i file _ _
      obtain ⟨_, rfl⟩ := Prod.mk.inj he
      cases hs : c.settle w (w.setMarker (.lock r.lockPath) (some file)) () with
      | mk y z =>
        rcases settle_cases hs with ⟨_, rfl⟩ | ⟨_, _, rfl | rfl⟩
        · exact hi.setMarker
        · exact hi
        · exact hi.setMarker
  · intro x
    cases x with
    | ok _ => exact .pure fun _ _ => trivial
    | error e =>
      cases e with
      | other message => exact .fail
      | «exists» =>
        cases recovering with
        | true => exact Does.post verify_does fun _ _ _ _ => trivial
        | false => exact .fail

theorem nativeAcquire_does : Does P (nativeAcquire k h) fun _ _ => True := by
  refine verify_does.bind fun _ => linkMarker_does.bind fun _ => ?_
  refine Does.bind (assign_does ?_ fun _ _ => trivial) fun _ => ?_
  · exact fun _ => ⟨rfl, rfl⟩
  · exact verify_does.bind fun _ => .any flush_does

theorem settled_does {o : Op} {k : o.Ret → Except String α}
    (h : ∀ w c x v, exec o c w = some (x, v) → v = w) :
    Does P (.call o fun x => .ofExcept (k x)) fun _ => P := by
  refine Does.post (Does.reads (Q := fun _ _ => True) ?_) fun _ _ _ hw => hw.1
  exact fun w c x v he => ⟨h w c x v he, fun _ _ => trivial⟩

theorem flockAcquire_does : Does P (flockAcquire k) fun _ _ => True := by
  have hopen {P : World → Prop} :
      Does P (.call .openLock fun x => (.ofExcept x : Script Unit)) fun _ _ => True :=
    .any (settled_does fun w c x v he => (settle_same (Option.some.inj he)).1)
  have hlock {P : World → Prop} :
      Does P (.call .flockLock fun x => (.ofExcept x : Script Unit)) fun _ _ => True :=
    .any (settled_does fun w c x v he => (settle_same (Option.some.inj he)).1)
  refine hopen.bind fun _ => Does.bind (assign_does ?_ fun _ _ => trivial) fun _ => hlock
  exact fun _ => ⟨rfl, rfl⟩

theorem takeLock_does : Does P (takeLock k h) fun _ _ => True := by
  unfold takeLock
  split
  · exact nativeAcquire_does
  · exact flockAcquire_does

/-- With the intent recorded the timer can be stopped. -/
theorem stopAndLock_does : Does (Recorded r) (stopAndLock k timerState) fun _ _ => True := by
  refine (Does.onlyIf (fun _ => ?_) fun _ _ hw => hw).bind fun _ => ?_
  · exact systemctl_does (fun _ hw => ⟨r, hw⟩) fun _ _ hw => hw
  refine state_does.bind fun stopped => Does.ensure.bind fun _ => idleService_does.bind fun _ => ?_
  refine handle_does.bind fun h => takeLock_does.bind fun _ => ?_
  refine idleService_does.bind fun _ => state_does.bind fun still => ?_
  exact Does.post Does.ensure fun _ _ _ _ => trivial

theorem refuse_does : Does (fun _ => True) (refuse k recovering error) fun _ _ => False := by
  have hfail {e : String} : Does (fun _ => True) (.fail e : Script Nat) fun _ _ => False := .fail
  cases recovering with
  | true =>
    refine Does.bind (assign_does ?_ fun _ _ => trivial) fun _ => hfail
    exact fun _ => ⟨rfl, rfl⟩
  | false => exact Setting.Triple.attempt release_keeps (fun _ => hfail) fun _ => hfail

/-- An identifier that nobody has. -/
structure New (name : String) (w : World) : Prop where
  known : name ∈ w.ids
  receipt : ∀ r, Recorded r w → r.id ≠ name
  handles : ∀ k h, w.handles k = some h → h.receipt.id ≠ name

theorem randomUUID_does (hp : ∀ w name, P w → P { w with ids := name :: w.ids }) :
    Does P (.call .randomUUID fun x => (.pure x : Script String)) fun name w =>
      P w ∧ New name w ∧ Unmarked name w := by
  apply Does.ask
  intro w c x v hi hw he
  simp only [exec, Option.ite_none_left_eq_some, Option.some.injEq] at he
  obtain ⟨hn, he⟩ := he
  cases he
  have hmem {name : String} (h : name ∈ w.ids) : name ∈ c.text :: w.ids :=
    List.mem_cons_of_mem _ h
  refine ⟨⟨hi.settled, ?_, ?_, fun i name h => hmem (hi.named i name h), hi.removed⟩, hp w _ hw,
    ⟨List.mem_cons_self, ?_, ?_⟩, ?_⟩
  · intro r hr
    obtain ⟨h₁, h₂, h₃⟩ := hi.recorded r hr
    exact ⟨h₁, hmem h₂, h₃⟩
  · intro k h hh
    obtain ⟨h₁, h₂, h₃⟩ := hi.handles k h hh
    exact ⟨hmem h₁, h₂, h₃⟩
  · intro r hr he
    exact hn (he ▸ (hi.recorded r hr).2.1)
  · intro k h hh he
    exact hn (he ▸ (hi.handles k h hh).1)
  · intro i hp'
    exact hn (hi.named i _ hp')

/-- What a first acquisition knows before its receipt is on file: the identifier is its own, and
a receipt that is not native has no marker. -/
structure Drafted (r : Receipt) (ρ : Option ReceiptFile) (w : World) : Prop where
  fresh : New r.id w
  timer : w.timer = r.priorTimerState
  plain : r.version ≠ 2 → Unmarked r.id w
  receipt : w.receipt = ρ

/-- The world with a staged marker of the publication, whole or torn. -/
def World.staged (w : World) (r : Receipt) (payload : Option String) : World :=
  { w.setMarker (.stage r.lockPath r.id) (some w.nextFile) with
    payload := Function.update w.payload w.nextFile payload
    nextFile := w.nextFile + 1 }

theorem staged_payload {w : World} (hp : payload = none ∨ payload = some r.id)
    (h : (w.staged r payload).payload i = some name) :
    name = r.id ∨ w.payload i = some name := by
  simp only [World.staged] at h
  by_cases hi : i = w.nextFile
  · rw [hi, Function.update_self] at h
    rcases hp with rfl | rfl
    · cases h
    · exact .inl (Option.some.inj h).symm
  · rw [Function.update_of_ne hi] at h
    exact .inr h

theorem Inv.staged {w : World} (hi : Inv w) (hn : New r.id w)
    (hp : payload = none ∨ payload = some r.id) : Inv (w.staged r payload) := by
  have hplain (name : String) (hne : name ≠ r.id) (h : Unmarked name w) :
      Unmarked name (w.staged r payload) :=
    fun i hi' => (staged_payload hp hi').elim hne (h i)
  refine ⟨hi.settled, ?_, ?_, ?_, hi.removed⟩
  · intro x hx
    obtain ⟨h₁, h₂, h₃⟩ := hi.recorded x hx
    exact ⟨h₁, h₂, fun hv => hplain _ (hn.receipt x hx) (h₃ hv)⟩
  · intro k h hh
    obtain ⟨h₁, h₂, h₃⟩ := hi.handles k h hh
    exact ⟨h₁, fun hv => hplain _ (hn.handles k h hh) (h₂ hv), h₃⟩
  · intro i name h
    rcases staged_payload hp h with rfl | h
    · exact hn.known
    · exact hi.named i name h

theorem createStage_does (h2 : r.version = 2) : Does (Drafted r ρ)
    (.call (.createStage r.lockPath r.id) fun x => (.ofExcept x : Script Nat))
    fun _ => Drafted r ρ := by
  apply Does.op
  intro w c x v hi hd he
  have he : w.createStage c r.lockPath r.id = (x, v) := Option.some.inj he
  have hstaged (payload : Option String) (hp : payload = none ∨ payload = some r.id) :
      Inv (w.staged r payload) ∧ Drafted r ρ (w.staged r payload) :=
    ⟨hi.staged hd.fresh hp, ⟨hd.fresh.known, hd.fresh.receipt, hd.fresh.handles⟩, hd.timer,
      fun hv => absurd h2 hv, hd.receipt⟩
  simp only [World.createStage] at he
  split at he
  · cases he
    exact ⟨hi, nofun⟩
  · split at he
    · cases he
      exact ⟨(hstaged _ (.inr rfl)).1, fun _ _ => (hstaged _ (.inr rfl)).2⟩
    · cases he
      exact ⟨hi, nofun⟩
    · cases he
      refine ⟨(hstaged _ ?_).1, nofun⟩
      split
      · exact .inr rfl
      · exact .inl rfl

/-- The inode is the only thing that staging adds to a receipt. -/
theorem Drafted.identify {w : World} (h : Drafted r ρ w) :
    Drafted { r with nativeIdentity := some file } ρ w := ⟨h.fresh, h.timer, h.plain, h.receipt⟩

theorem stageNative_does (hv : r.version = if native then 2 else 1) :
    Does (Drafted r ρ) (stageNative native r) fun x w => x.id = r.id ∧ x.version = r.version ∧
      Drafted x ρ w := by
  unfold stageNative
  cases native with
  | false => exact .pure fun w hw => ⟨rfl, rfl, hw⟩
  | true =>
    refine flush_does.bind fun _ => (createStage_does hv).bind fun file => ?_
    refine flush_does.bind fun _ => .pure fun w hw => ⟨rfl, rfl, hw.identify⟩

theorem openReceipt_does : Does (Drafted r ρ)
    (.call .openReceipt fun x => (.ofExcept x : Script Unit))
    fun _ w => ρ = none ∧ Drafted r (some .torn) w := by
  apply Does.op
  intro w c x v hi hd he
  have he : w.openReceipt c = (x, v) := Option.some.inj he
  have hnone (h : w.receipt = none) : Inv { w with receipt := some .torn } := by
    refine ⟨fun _ => hi.settled (fun r hr => ?_), nofun, ?_, hi.named, hi.removed⟩
    · rw [Recorded, h] at hr
      cases hr
    · intro k x hx
      obtain ⟨h₁, h₂, _⟩ := hi.handles k x hx
      exact ⟨h₁, h₂, nofun⟩
  simp only [World.openReceipt] at he
  split at he
  · cases he
    exact ⟨hi, nofun⟩
  · rename_i hsome
    have hr : w.receipt = none := by simpa using hsome
    rcases settle_cases he with ⟨rfl, rfl⟩ | ⟨e, rfl, rfl | rfl⟩
    · refine ⟨hnone hr, fun _ _ => ⟨hd.receipt ▸ hr, ⟨hd.fresh.known, nofun, hd.fresh.handles⟩,
        hd.timer, hd.plain, rfl⟩⟩
    · exact ⟨hi, nofun⟩
    · exact ⟨hnone hr, nofun⟩

theorem writeReceipt_does : Does (Drafted r (some .torn))
    (.call (.writeReceipt r) fun x => (.ofExcept x : Script Unit)) fun _ => Recorded r := by
  apply Does.effect (r := fun _ _ => ()) (d := fun w _ => { w with receipt := some (.full r) })
  · exact fun w c x v _ he => .inr (Option.some.inj he)
  · intro w c hi hd
    have htimer : w.timer = w.intended := by
      refine hi.settled fun x hx => ?_
      rw [Recorded, hd.receipt] at hx
      cases hx
    refine ⟨⟨fun hn => absurd rfl (hn r), ?_, ?_, hi.named, hi.removed⟩, rfl⟩
    · rintro x ⟨⟩
      exact ⟨hd.timer.symm.trans htimer, hd.fresh.known, hd.plain⟩
    · intro k h hh
      obtain ⟨h₁, h₂, _⟩ := hi.handles k h hh
      refine ⟨h₁, h₂, ?_⟩
      rintro x ⟨⟩ hid
      exact absurd hid.symm (hd.fresh.handles k h hh)

theorem processPid_does : Does P (.call .processPid fun x => (.pure x : Script Nat)) fun _ => P := by
  apply Does.ask
  intro w c x v hi hw he
  cases he
  exact ⟨hi, hw⟩

/-- The intent is on file before the timer is touched, and only if no other receipt was. -/
theorem recordIntent_does : Does (fun w => w.timer = timerState ∧ w.receipt = ρ)
    (recordIntent q native lockPath timerState)
    fun r w => (ρ = none ∧ r.version = if native then 2 else 1) ∧ Recorded r w := by
  refine (randomUUID_does fun _ _ hw => hw).bind fun name => processPid_does.bind fun pid => ?_
  refine Does.pre (P := Drafted (newReceipt q native lockPath name pid timerState) ρ) ?_
    fun w _ hw => ⟨hw.2.1, hw.1.1, fun _ => hw.2.2, hw.1.2⟩
  refine (stageNative_does rfl).bind fun r => ?_
  refine Does.pre (P := fun w => (r.version = if native then 2 else 1) ∧ Drafted r ρ w)
    (Does.given fun hv => ?_) fun w _ hw => ⟨hw.2.1, hw.2.2⟩
  refine openReceipt_does.bind fun _ => Does.given fun hρ => writeReceipt_does.bind fun _ => ?_
  exact flush_does.bind fun _ => .pure fun w hw => ⟨⟨hρ, hv⟩, hw⟩

theorem newHandle_does (hv : r.version = if native then 2 else 1) :
    Does (Recorded r) (newHandle r native recovering) fun _ => Recorded r := by
  apply Does.ask
  intro w c x v hi hr he
  cases he
  refine ⟨⟨hi.settled, hi.recorded, ?_, hi.named, hi.removed⟩, hr⟩
  obtain ⟨_, hid, hplain⟩ := hi.recorded r hr
  intro k h hh
  simp only [World.addHandle] at hh
  split at hh
  · cases hh
    refine ⟨hid, ?_, ?_⟩
    · rintro rfl
      refine hplain ?_
      rw [hv]
      decide
    · rintro x hx _
      cases hr.symm.trans hx
      rfl
  · exact hi.handles k h hh

/-- What an acquisition found on file. -/
def Found (q : Request) (native : Bool) (lockPath : String) (ρ : Option ReceiptFile)
    (found : Option Receipt) : Prop :=
  ∀ r, found = some r → ρ = some (.full r) ∧ q.matches native lockPath r = true

theorem findReceipt_does : Does (fun w => w.receipt = ρ) (findReceipt q native lockPath)
    fun found w => Found q native lockPath ρ found ∧ w.receipt = ρ := by
  refine Does.bind (Q := fun _ w => w.receipt = ρ) ?_ fun found => ?_
  · apply Does.ask
    intro w c x v hi hw he
    cases he
    exact ⟨hi, hw⟩
  · cases found with
    | false => exact Does.ensure.bind fun _ => .pure fun w hw => ⟨nofun, hw.2⟩
    | true =>
      refine readReceipt_does.bind fun r => Does.ensure.bind fun _ => Does.given fun hm => ?_
      refine ownerIsAlive_does.bind fun alive => Does.ensure.bind fun _ => Does.given fun _ => ?_
      refine .pure fun w hw => ⟨?_, hw.1⟩
      rintro x ⟨⟩
      exact ⟨hw.1.symm.trans hw.2, hm⟩

theorem Request.matches_eq {q : Request} (h : q.matches native lockPath r = true) :
    q.recoverReceiptId = some r.id ∧ r.version = if native then 2 else 1 := by
  simp only [Request.matches, Bool.and_eq_true, decide_eq_true_eq] at h
  obtain ⟨⟨⟨⟨⟨⟨⟨hid, hv⟩, _⟩, _⟩, _⟩, _⟩, _⟩, _⟩ := h
  obtain ⟨id, hq, hx⟩ := (Option.any_eq_true ..).mp hid
  simp only [Bool.and_eq_true, decide_eq_true_eq] at hx
  exact ⟨hx.2 ▸ hq, hv⟩

theorem takeCustody_does (hf : Found q native lockPath ρ found) :
    Does (fun w => w.timer = timerState ∧ w.receipt = ρ)
      (takeCustody q native lockPath timerState found)
      fun _ w => (found = none → ρ = none) ∧ ∃ r, Recorded r w := by
  cases found with
  | none =>
    refine recordIntent_does.bind fun r => Does.given fun hr => ?_
    exact Does.post (newHandle_does hr.2) fun _ w _ hw => ⟨fun _ => hr.1, r, hw⟩
  | some r =>
    obtain ⟨hρ, hm⟩ := hf r rfl
    have hmarker : Does (Recorded r) (.onlyIf native (recoverMarker r)) fun _ => Recorded r := by
      refine Does.onlyIf (fun _ => ?_) fun _ _ hw => hw
      exact Does.ensure.bind fun _ => Does.post verify_does fun _ _ _ hw => hw.1.2
    refine Does.pre (P := Recorded r) ?_ fun w _ hw => hw.2.trans hρ
    refine hmarker.bind fun _ => ?_
    exact Does.post (newHandle_does (Request.matches_eq hm).2) fun _ w _ hw => ⟨nofun, r, hw⟩

/-- An acquisition succeeds if no receipt was on file, or with the identifier of the one that
was. -/
theorem acquire_does : Does (fun w => w.receipt = ρ) (acquireLocalDashboardPublicationInterlock q)
    fun _ _ => ρ = none ∨ ∃ r, ρ = some (.full r) ∧ q.recoverReceiptId = some r.id := by
  refine Does.bind (settled_does ?_) fun native => findReceipt_does.bind fun found => ?_
  · exact fun w c x v he => (settle_same (Option.some.inj he)).1
  refine Does.given fun hf => state_does.bind fun timerState => ?_
  refine Does.ensure.bind fun _ => Does.given fun _ => idleService_does.bind fun _ => ?_
  refine Does.bind (Does.pre (takeCustody_does hf) ?_) fun k => Does.given fun hnone => ?_
  · exact fun w _ hw => ⟨(hw.2 rfl).symm, hw.1⟩
  have hid : ρ = none ∨ ∃ r, ρ = some (.full r) ∧ q.recoverReceiptId = some r.id := by
    cases found with
    | none => exact .inl (hnone rfl)
    | some r =>
      obtain ⟨hρ, hm⟩ := hf r rfl
      exact .inr ⟨r, hρ, (Request.matches_eq hm).1⟩
  refine Setting.Triple.exists fun r =>
    Setting.Triple.attempt stopAndLock_does (fun _ => ?_) fun e => ?_
  · refine Does.bind (assign_does ?_ fun _ _ => trivial) fun _ => .pure fun _ _ => hid
    exact fun _ => ⟨rfl, rfl⟩
  · exact Does.post refuse_does fun _ _ _ hw => hw.elim

end Acquiring

/-- Before any acquisition: the timer is as its user left it. -/
structure Fresh (w : World) : Prop where
  timer : w.timer = w.intended
  receipt : w.receipt = none
  payload : ∀ i, w.payload i = none
  handles : ∀ k, w.handles k = none
  removed : w.removed = []

/-- What acquisitions, releases and retentions leave, each of them cut off somewhere or not, and
between them the user, who may set the timer when there is no custody, and the workstation's own
lock, which comes and goes at lock paths that have no marker. -/
inductive Runs : World → Prop where
  | start : Fresh w → Runs w
  | user : Runs w → w.receipt = none → Runs { w with timer := s, intended := s }
  | foreign : Runs w → (∀ i, w.markers (.lock path) = some i → w.payload i = none) →
      (∀ i, file = some i → w.payload i = none) → Runs (w.setMarker (.lock path) file)
  | acquire : Runs w →
      Runs ((acquireLocalDashboardPublicationInterlock q).run exec choices w).2
  | release : Runs w → (w.handles k).any (·.returned) = true →
      Runs ((release k).run exec choices w).2
  | retain : Runs w → (w.handles k).any (·.returned) = true →
      Runs ((retainForRecovery k).run exec choices w).2

/-- Nothing of a custody is lost. A release restores what is recorded, if its handle was neither
released nor retained before and still holds the marker it linked. -/
structure Custody (w : World) : Prop where
  intent : w.timer = w.intended ∨ ∃ r, Recorded r w ∧ r.priorTimerState = w.intended
  acquired : ∀ q choices k v,
    (acquireLocalDashboardPublicationInterlock q).run exec choices w = (some (.ok k), v) →
      w.receipt = none ∨ ∃ r, Recorded r w ∧ q.recoverReceiptId = some r.id
  released : ∀ k h choices v, w.handles k = some h → h.released = false →
    (h.native = true → h.held = true) →
      (release k).run exec choices w = (some (.ok ()), v) →
        v.timer = h.receipt.priorTimerState ∧ v.receipt = none ∧ Free h.receipt v
  removed : ∀ e ∈ w.removed, e.2 = some e.1

section Safety
variable {w : World}

theorem Fresh.inv (h : Fresh w) : Inv w := by
  have hnone (r : Receipt) : ¬ Recorded r w := by
    rw [Recorded, h.receipt]
    exact nofun
  refine ⟨fun _ => h.timer, fun r hr => absurd hr (hnone r), ?_, ?_, ?_⟩
  · intro k x hx
    rw [h.handles k] at hx
    cases hx
  · intro i name hp
    rw [h.payload i] at hp
    cases hp
  · rw [h.removed]
    exact nofun

theorem Does.run {P : World → Prop} {p : Script α} {Q : α → World → Prop} (h : Does P p Q)
    (hi : Inv w) (hw : P w) (choices : List Choice) :
    Inv (p.run exec choices w).2 ∧
      ∀ a v, p.run exec choices w = (some (.ok a), v) → Q a v := by
  obtain ⟨hi', _, hq⟩ := (h w hi hw).run (fun _ => rfl) hi choices
  refine ⟨hi', fun a v hr => ?_⟩
  have hr : p.run setting.exec choices w = (some (.ok a), v) := hr
  have hpost := hq (.ok a) (by rw [hr])
  rw [hr] at hpost
  exact hpost

theorem Runs.inv (h : Runs w) : Inv w := by
  induction h with
  | start hf => exact hf.inv
  | @user w s _ hr ih =>
    have hnone (r : Receipt) : ¬ Recorded r w := by
      rw [Recorded, hr]
      exact nofun
    exact ⟨fun _ => rfl, fun r hr => absurd hr (hnone r), ih.handles, ih.named, ih.removed⟩
  | foreign _ _ _ ih => exact ih.setMarker
  | acquire _ ih => exact (acquire_does.run ih rfl _).1
  | release _ _ ih => exact (Does.run (P := fun _ => True) release_keeps ih trivial _).1
  | retain _ _ ih => exact (retainForRecovery_keeps.run ih trivial _).1

/-- A machine whose timer is active. -/
def armed : World where
  timer := "active"
  intended := "active"
  receipt := none
  markers _ := none
  payload _ := none
  nextFile := 0
  ids := []
  handles _ := none
  nextHandle := 0
  removed := []

/-- Operations that succeed, with the texts that come from outside. -/
def answers (texts : List String) : List Choice := texts.map fun text => ⟨.none, false, text, 1⟩

def firstRequest : Request := ⟨"/run/lock", "/root/lock", none, none⟩

/-- The first acquisition, with the lock of `flock`. -/
def admitted : World :=
  ((acquireLocalDashboardPublicationInterlock firstRequest).run exec (answers
    ["", "", "loaded", "", "loaded", "inactive", "r", "", "", "", "", "", "inactive", "loaded", "",
      "loaded", "inactive", "", "", "", "", "loaded", "inactive", "loaded", "", ""]) armed).2

theorem admitted_runs : Runs admitted :=
  .acquire (.start ⟨rfl, rfl, fun _ => rfl, fun _ => rfl, rfl⟩)

/-- The custody is retained for a recovery. -/
def retained : World :=
  ((retainForRecovery 0).run exec (answers ["", "", "loaded", "", ""]) admitted).2

/-- A handle that was released or retained does nothing more. -/
theorem release_again (hk : w.handles k = some h) (hr : h.released = true) :
    (release k).run exec [c] w = (some (.ok ()), w) := by
  have hx : exec (.handle k) c w = some (h, w) := by
    simp only [exec, hk]
    rfl
  change Prog.run exec (.call (.handle k) _) [c] w = _
  simp only [Prog.run, hx]
  change Prog.run exec (.onlyIf (!h.released) _) [] w = _
  rw [hr]
  rfl

end Safety

end AgentBrowser.Interlock
