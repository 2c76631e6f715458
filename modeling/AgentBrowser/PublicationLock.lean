import AgentBrowser.PublicationJournal
import AgentBrowser.Transition

namespace AgentBrowser.Publication
open Durable
set_option autoImplicit true

/-- What a write may replace: a creation a missing or complete transaction, a commit the very
revision it is based on. -/
def Write.Replaces (e : Write Rest) : Prop :=
  match e.base with
  | none => e.record.revision = 1 ∧
      ∀ r, e.replaced = .record r → isTerminalPublicationPhase r.phase = true
  | some base => e.record.transactionId = base.transactionId ∧
      e.record.revision = base.revision + 1 ∧
      ∃ r, e.replaced = .record r ∧ r.transactionId = base.transactionId ∧
        r.revision = base.revision

/-- One task at most holds the lock, every revision was written once, and every write replaced
what it was based on. -/
structure Exclusive (w : World Rest) : Prop where
  holders : ∀ t u, w.lockHeld t = true → w.lockHeld u = true → t = u
  once : (w.writes.map Write.key).Nodup
  replaces : ∀ e ∈ w.writes, e.Replaces

/-- No lock is held, no file is a running process's, and nothing was written yet. The lock path
may hold a stale file and the journal anything. -/
structure Fresh (w : World Rest) : Prop where
  held : ∀ t, w.lockHeld t = false
  creators : ∀ i, (w.files i).creator = none
  writes : w.writes = []
  broken : w.broken = []

/-- The lock path has the file that `t` created. -/
def World.OwnedBy (w : World Rest) (t : Tid) : Prop := w.creator = some t

/-- What was written is not newer than the journal, and what the journal says it replaces. -/
structure History (w : World Rest) : Prop where
  once : (w.writes.map Write.key).Nodup
  newest : ∀ e ∈ w.writes, ∀ r, w.journal = .record r →
    e.record.transactionId = r.transactionId → e.record.revision ≤ r.revision
  replaces : ∀ e ∈ w.writes, e.Replaces

/-- As long as no running process lost its lock file, holders have theirs at the lock path. A
lock file never has another process's pid. -/
structure Inv (w : World Rest) : Prop where
  holder : w.broken = [] → ∀ t, w.lockHeld t = true → w.OwnedBy t
  history : w.broken = [] → History w
  pids : ∀ i u, (w.files i).creator = some u →
    u.1 ∈ w.running ∧ ∀ pid, (w.files i).pid = some pid → pid = u.1

/-- What others leave to a task: its own variable, and all that is behind the lock while it has
the lock file. -/
structure Rely (t : Tid) (w v : World Rest) : Prop where
  held : v.lockHeld t = w.lockHeld t
  broken : v.broken = [] → w.broken = []
  owned : v.broken = [] → w.OwnedBy t → v.OwnedBy t ∧ v.journal = w.journal ∧ v.writes = w.writes
  files : w.next ≤ v.next ∧ ∀ i, i < w.next → ∀ u, (v.files i).creator = some u →
    (w.files i).creator = some u

def Guar (t : Tid) (w v : World Rest) : Prop := ∀ u, u ≠ t → Rely u w v

section Steps
variable {w v : World Rest} {t u : Tid}

theorem Rely.refl : Rely t w w :=
  ⟨rfl, id, fun _ h => ⟨h, rfl, rfl⟩, Nat.le_refl _, fun _ _ _ h => h⟩

theorem Rely.trans {w₁ w₂ w₃ : World Rest} (h : Rely t w₁ w₂) (h' : Rely t w₂ w₃) :
    Rely t w₁ w₃ := by
  obtain ⟨hn, hf⟩ := h.files
  obtain ⟨hn', hf'⟩ := h'.files
  refine ⟨h'.held.trans h.held, fun hb => h.broken (h'.broken hb), ?_, Nat.le_trans hn hn', ?_⟩
  · intro hb ho
    obtain ⟨ho₂, hj, hw⟩ := h.owned (h'.broken hb) ho
    obtain ⟨ho₃, hj', hw'⟩ := h'.owned hb ho₂
    exact ⟨ho₃, hj'.trans hj, hw'.trans hw⟩
  · intro i hi u hc
    exact hf i hi u (hf' i (Nat.lt_of_lt_of_le hi hn) u hc)

theorem Guar.refl : Guar t w w := fun _ _ => .refl

/-- Two tasks do not have the lock file at once. -/
theorem World.OwnedBy.unique (h : w.OwnedBy t) (h' : w.OwnedBy u) : t = u :=
  Option.some.inj (h.symm.trans h')

/-- A step that creates no file does what others rely on if it leaves their variables alone and,
as long as the lock was never broken, is of the one with the lock file or of no effect on it. -/
theorem Guar.of_files (hh : ∀ u, u ≠ t → v.lockHeld u = w.lockHeld u)
    (hn : v.next = w.next) (hf : ∀ i, (v.files i).creator = (w.files i).creator)
    (hb : v.broken = [] → w.broken = [] ∧ ((∀ u, w.OwnedBy u → u = t) ∨
      v.lock = w.lock ∧ v.journal = w.journal ∧ v.writes = w.writes)) : Guar t w v := by
  intro u hu
  refine ⟨hh u hu, fun hv => (hb hv).1, ?_, Nat.le_of_eq hn.symm, fun i _ x hc => (hf i).symm.trans hc⟩
  intro hv ho
  rcases (hb hv).2 with hone | ⟨hl, hj, hw⟩
  · exact absurd (hone u ho) hu
  · refine ⟨?_, hj, hw⟩
    simp only [World.OwnedBy, World.creator, hl, hf]
    exact ho

theorem History.of_same (h : History w) (hj : v.journal = w.journal) (hw : v.writes = w.writes) :
    History v := by
  refine ⟨hw ▸ h.once, ?_, hw ▸ h.replaces⟩
  rw [hj, hw]
  exact h.newest

theorem creator_createLock : (w.createLock t).creator = some t := by
  simp only [World.creator, World.createLock, Option.bind_some, Function.update_self]

theorem unlinkBy_broken (h : (w.unlinkBy t).broken = []) :
    w.broken = [] ∧ ∀ u, w.OwnedBy u → u = t := by
  obtain ⟨hm, hb⟩ := List.append_eq_nil_iff.mp h
  refine ⟨hb, ?_⟩
  intro u hu
  by_contra hne
  simp only [World.OwnedBy] at hu
  simp only [hu, Option.filter_some, ne_eq, hne, not_false_eq_true, decide_true, ↓reduceIte,
    Option.toList_some, List.map_cons, List.map_nil, List.cons_ne_nil] at hm

theorem Inv.createLock (h : Inv w) (hl : w.lock = none) : Inv (w.createLock t) := by
  refine ⟨?_, fun hb => (h.history hb).of_same rfl rfl, ?_⟩
  · intro hb u hu
    have ho := h.holder hb u hu
    simp only [World.OwnedBy, World.creator, hl, Option.bind_none, reduceCtorEq] at ho
  · intro i u hc
    simp only [World.createLock] at hc ⊢
    by_cases hi : i = w.next
    · subst hi
      simp only [Function.update_self, Option.some.injEq] at hc ⊢
      subst hc
      exact ⟨List.mem_cons_self, nofun⟩
    · rw [Function.update_of_ne hi] at hc ⊢
      obtain ⟨hr, hp⟩ := h.pids i u hc
      exact ⟨List.mem_cons_of_mem _ hr, hp⟩

/-- When a task may ask for an operation: the ones that need the lock, with its file in place
as long as the lock was never broken. -/
def Op.May (t : Tid) (w : World Rest) : Op Rest → Prop
  | .setLockHeld true | .unlinkReleased => w.broken = [] → w.OwnedBy t
  | .unlinkStale => w.lockHeld t = false
  | .writePid file => file < w.next ∧ ∀ u, (w.files file).creator = some u → u = t
  | .writeJournal base record => w.broken = [] →
      w.OwnedBy t ∧ History (w.replaceJournal t base record)
  | _ => True

theorem Inv.setHeld (h : Inv w) (ho : held = true → w.broken = [] → w.OwnedBy t) :
    Inv (w.setHeld t held) := by
  refine ⟨?_, fun hb => (h.history hb).of_same rfl rfl, h.pids⟩
  intro hb u hu
  simp only [World.setHeld] at hu
  by_cases hut : u = t
  · subst hut
    rw [Function.update_self] at hu
    exact ho hu hb
  · rw [Function.update_of_ne hut] at hu
    exact h.holder hb u hu

theorem lockHeld_setHeld (hu : u ≠ t) : (w.setHeld t held).lockHeld u = w.lockHeld u :=
  Function.update_of_ne hu ..

theorem lockHeld_setHeld_self : (w.setHeld t held).lockHeld t = held := Function.update_self ..

theorem creator_writePid (i : Nat) :
    ((w.writePid t file).files i).creator = (w.files i).creator := by
  simp only [World.writePid, Function.update_apply]
  split
  · rename_i hi
    rw [hi]
  · rfl

theorem Inv.writePid (h : Inv w) (hf : ∀ u, (w.files file).creator = some u → u = t) :
    Inv (w.writePid t file) := by
  refine ⟨?_, fun hb => (h.history hb).of_same rfl rfl, ?_⟩
  · intro hb u hu
    have ho : w.OwnedBy u := h.holder hb u hu
    have hc : (w.writePid t file).creator = w.creator := by
      simp only [World.creator, creator_writePid]
      rfl
    exact hc.trans ho
  · intro i u hc
    rw [creator_writePid] at hc
    refine ⟨(h.pids i u hc).1, ?_⟩
    intro pid hp
    simp only [World.writePid, Function.update_apply] at hp
    split at hp
    · rename_i hi
      rw [hf u (hi ▸ hc)]
      exact (Option.some.inj hp).symm
    · exact (h.pids i u hc).2 pid hp

/-- Nobody else can hold the lock whose file `t` unlinks. -/
theorem Inv.unlink (h : Inv w) (hf : v.files = w.files)
    (hr : v.running = w.running) (hj : v.journal = w.journal) (hw : v.writes = w.writes)
    (hb : v.broken = [] → w.broken = [] ∧ ∀ u, w.OwnedBy u → u = t)
    (ht : v.lockHeld t = false) (hn : ∀ u, v.lockHeld u = true → w.lockHeld u = true) :
    Inv v := by
  refine ⟨?_, fun hv => (h.history (hb hv).1).of_same hj hw, ?_⟩
  · intro hv u hu
    obtain ⟨hbw, hone⟩ := hb hv
    rw [hone u (h.holder hbw u (hn u hu)), ht] at hu
    cases hu
  · rw [hf, hr]
    exact h.pids

theorem Guar.createLock (hl : w.lock = none) : Guar t w (w.createLock t) := by
  intro u hu
  refine ⟨rfl, id, ?_, Nat.le_succ _, ?_⟩
  · intro _ ho
    simp only [World.OwnedBy, World.creator, hl, Option.bind_none, reduceCtorEq] at ho
  · intro i hi x hc
    simp only [World.createLock, Function.update_of_ne (Nat.ne_of_lt hi)] at hc
    exact hc

theorem Inv.replaceJournal (h : Inv w)
    (hw : w.broken = [] → History (w.replaceJournal t base record)) :
    Inv (w.replaceJournal t base record) := ⟨h.holder, hw, h.pids⟩

/-- One operation that its task may ask for keeps the invariant and what others rely on. -/
theorem exec_keeps (hi : Inv w) (hm : o.May t w) (he : exec t o c w = some (r, v)) :
    Inv v ∧ Guar t w v := by
  cases o with
  | ownerPid | lockHeld | readOwnerPid | readJournal | now =>
    cases he
    exact ⟨hi, .refl⟩
  | processIsLive pid =>
    simp only [exec, Option.ite_none_left_eq_some, Option.some.injEq] at he
    obtain ⟨_, he⟩ := he
    cases he
    exact ⟨hi, .refl⟩
  | randomUUID =>
    simp only [exec, Option.ite_none_left_eq_some, Option.some.injEq] at he
    obtain ⟨_, he⟩ := he
    cases he
    exact ⟨hi, .refl⟩
  | setLockHeld held =>
    cases he
    refine ⟨hi.setHeld ?_, .of_files (fun _ => lockHeld_setHeld) rfl (fun _ => rfl) ?_⟩
    · rintro rfl
      exact hm
    · exact fun hb => ⟨hb, .inr ⟨rfl, rfl, rfl⟩⟩
  | openLock =>
    simp only [exec] at he
    split at he
    · cases he
      exact ⟨hi, .refl⟩
    · rename_i hl
      have hl : w.lock = none := by simpa using hl
      cases he
      exact ⟨hi.createLock hl, .createLock hl⟩
  | writePid file =>
    cases he
    refine ⟨hi.writePid hm.2, .of_files (fun _ _ => rfl) rfl creator_writePid ?_⟩
    exact fun hb => ⟨hb, .inr ⟨rfl, rfl, rfl⟩⟩
  | unlinkStale =>
    cases he
    refine ⟨hi.unlink rfl rfl rfl rfl unlinkBy_broken hm fun _ h => h,
      .of_files (fun _ _ => rfl) rfl (fun _ => rfl) ?_⟩
    intro hb
    obtain ⟨hbw, hone⟩ := unlinkBy_broken hb
    exact ⟨hbw, .inl hone⟩
  | unlinkReleased =>
    cases he
    have hone : w.broken = [] → w.broken = [] ∧ ∀ u, w.OwnedBy u → u = t :=
      fun hb => ⟨hb, fun u hu => hu.unique (hm hb)⟩
    refine ⟨hi.unlink rfl rfl rfl rfl hone lockHeld_setHeld_self ?_,
      .of_files (fun _ => lockHeld_setHeld) rfl (fun _ => rfl) ?_⟩
    · intro u hu
      by_cases hut : u = t
      · rw [hut, lockHeld_setHeld_self] at hu
        cases hu
      · rwa [lockHeld_setHeld hut] at hu
    · exact fun hb => ⟨hb, .inl (hone hb).2⟩
  | writeJournal base record =>
    cases he
    refine ⟨hi.replaceJournal fun hb => (hm hb).2, .of_files (fun _ _ => rfl) rfl (fun _ => rfl) ?_⟩
    exact fun hb => ⟨hb, .inl fun u hu => hu.unique (hm hb).1⟩

/-- When the pid in the lock file tests dead, its creator no longer runs: only an empty file, or
one that was replaced after the pid was read, can be a running process's. -/
theorem Inv.stale (h : Inv w) (hp : w.ownerPid = some pid)
    (he : exec t (.processIsLive pid) c w = some (false, v)) : w.creator = none := by
  by_contra hne
  obtain ⟨u, hu⟩ := Option.ne_none_iff_exists'.mp hne
  obtain ⟨i, hl, hc⟩ := Option.bind_eq_some_iff.mp hu
  obtain ⟨hr, hown⟩ := h.pids i u hc
  obtain ⟨hf, _⟩ := Option.filter_eq_some_iff.mp hp
  simp only [hl, Option.bind_some] at hf
  obtain rfl := hown pid hf
  simp only [exec] at he
  split at he
  · cases he
  · rename_i hn
    cases hlive : c.live with
    | false => exact hn ⟨hr, hlive⟩
    | true =>
      rw [hlive] at he
      cases he

end Steps

section Scripts
variable {t : Tid}

def setting (Rest : Type) (t : Tid) : Setting (Op Rest) Op.Ret Choice (World Rest) where
  exec := exec t
  Inv := Inv
  Rely := Rely t
  Guar := Guar t
  refl := fun _ => .refl

/-- The lock file is in place as long as the lock was never broken. -/
def Owns (t : Tid) (w : World Rest) : Prop := w.broken = [] → w.OwnedBy t

/-- The own variable says so. -/
def Says (t : Tid) (held : Bool) (w : World Rest) : Prop := w.lockHeld t = held

/-- The file that `openLock` created is nobody else's. -/
def Opened (t : Tid) (file : Nat) (w : World Rest) : Prop :=
  file < w.next ∧ ∀ u, (w.files file).creator = some u → u = t

theorem Owns.stable : (setting Rest t).Stable (Owns t) :=
  fun _ _ h hr _ hb => (hr.owned hb (h (hr.broken hb))).1

theorem Says.stable : (setting Rest t).Stable (Says t held) :=
  fun _ _ h hr _ => hr.held.trans h

theorem Opened.stable : (setting Rest t).Stable (Opened t file) :=
  fun _ _ h hr _ => ⟨Nat.lt_of_lt_of_le h.1 hr.files.1, fun u hc => h.2 u (hr.files.2 file h.1 u hc)⟩

/-- From `P` the script keeps to the setting, and a value it returns satisfies `Q`. -/
def Does (t : Tid) (P : World Rest → Prop) (p : Script Rest α) (Q : α → World Rest → Prop) : Prop :=
  (setting Rest t).Triple P p (Outcome Q fun _ _ => True)

variable {P P' : World Rest → Prop} {Q : α → World Rest → Prop} {T : β → World Rest → Prop}
  {p : Script Rest α} {f : α → Script Rest β}

theorem Does.bind (h : Does t P p Q) (hf : ∀ a, Does t (Q a) (f a) T) : Does t P (p >>= f) T :=
  Setting.Triple.seq h hf fun _ _ _ _ => trivial

theorem Does.pre (h : Does t P p Q) (hp : ∀ w, Inv w → P' w → P w) : Does t P' p Q :=
  h.conseq hp fun _ _ _ h => h

theorem Does.pure (hp : (setting Rest t).Stable P) (h : ∀ w, P w → Q a w) :
    Does t P (.pure a) Q :=
  Setting.Triple.pure hp fun w _ hw => h w hw

theorem Does.fail (hp : (setting Rest t).Stable P) : Does t P (.fail e : Script Rest α) Q :=
  Setting.Triple.fail hp fun _ _ _ => trivial

theorem Does.ofExcept {x : Except String α} (hp : (setting Rest t).Stable P) :
    Does t P (.ofExcept x) fun a w => x = .ok a ∧ P w := by
  cases x with
  | ok a => exact .pure hp fun _ hw => ⟨rfl, hw⟩
  | error e => exact .fail hp

theorem Does.ensure (hp : (setting Rest t).Stable P) :
    Does t P (.ensure c e) fun _ w => c = true ∧ P w := by
  cases c with
  | true => exact .pure hp fun _ hw => ⟨rfl, hw⟩
  | false => exact .fail hp

theorem Does.onlyIf {p : Script Rest Unit} (hp : (setting Rest t).Stable P)
    (h : c = true → Does t P p fun _ _ => True) : Does t P (.onlyIf c p) fun _ _ => True := by
  cases c with
  | true => exact h rfl
  | false => exact .pure hp fun _ _ => trivial

theorem Does.ask {o : Op Rest} {Q : o.Ret → World Rest → Prop}
    (hp : (setting Rest t).Stable P) (hm : ∀ w, Inv w → P w → o.May t w)
    (hq : ∀ w c r v, Inv w → P w → exec t o c w = some (r, v) → Q r v)
    (hs : ∀ r, (setting Rest t).Stable (Q r)) : Does t P (Publication.ask o) Q := by
  apply Setting.Triple.request hp
  · intro w hi hw c r v he
    obtain ⟨hv, hg⟩ := exec_keeps hi (hm w hi hw) he
    exact ⟨hv, hg, hq w c r v hi hw he⟩
  · exact hs

theorem stable_true : (setting Rest t).Stable fun _ => True := fun _ _ _ _ _ => trivial

theorem isHeld_does : Does t (fun _ => True) (isHeld : Script Rest Bool) fun held w =>
    Says t held w ∧ (held = true → Owns t w) := by
  apply Does.ask (o := .lockHeld) stable_true fun _ _ _ => trivial
  · intro w _ r v hi _ he
    cases he
    exact ⟨rfl, fun hh hb => hi.holder hb t hh⟩
  · exact fun r => Says.stable.and fun w v h hr hi hb => Owns.stable w v (h hb) hr hi

/-- What `openLock` leaves behind. -/
def OpenedBy (t : Tid) (file : Option Nat) (w : World Rest) : Prop :=
  Says t false w ∧ ∀ i, file = some i → Owns t w ∧ Opened t i w

theorem openLock_does : Does t (Says t false) (openLock : Script Rest (Option Nat)) (OpenedBy t) := by
  apply Does.ask (o := .openLock) Says.stable fun _ _ _ => trivial
  · intro w _ r v _ hs he
    simp only [exec] at he
    split at he
    · cases he
      exact ⟨hs, nofun⟩
    · cases he
      refine ⟨hs, ?_⟩
      rintro i ⟨⟩
      refine ⟨fun _ => creator_createLock, Nat.lt_succ_self _, ?_⟩
      intro u hu
      simp only [World.createLock, Function.update_self, Option.some.injEq] at hu
      exact hu.symm
  · intro r w v h hr hi
    exact ⟨Says.stable w v h.1 hr hi, fun i hi' => ⟨Owns.stable w v (h.2 i hi').1 hr hi,
      Opened.stable w v (h.2 i hi').2 hr hi⟩⟩

theorem writePid_does {file : Nat} : Does t (fun w : World Rest => Owns t w ∧ Opened t file w)
    (Publication.ask (.writePid file)) fun _ => Owns t := by
  apply Does.ask (o := .writePid file) (Owns.stable.and Opened.stable) fun _ _ h => h.2
  · intro w _ r v hi h he
    cases he
    intro hb
    have hc : (w.writePid t file).creator = w.creator := by
      simp only [World.creator, creator_writePid]
      rfl
    exact hc.trans (h.1 hb)
  · exact fun _ => Owns.stable

/-- Whoever finds the lock file missing creates it. -/
theorem linked_does {file : Option Nat} {p : Script Rest Unit}
    (hp : Does t (Says t false) p fun _ => Owns t) :
    Does t (OpenedBy t file)
      (match file with
        | some file => Publication.ask (.writePid file)
        | none => p) fun _ => Owns t := by
  cases file with
  | some i => exact writePid_does.pre fun _ _ h => h.2 i rfl
  | none => exact hp.pre fun _ _ h => h.1

theorem replaceStaleLock_does :
    Does t (Says t false) (replaceStaleLock : Script Rest Unit) fun _ => Owns t := by
  refine Does.bind (Q := fun _ => Says t false) ?_ fun _ => openLock_does.bind fun file =>
    linked_does (.fail Says.stable)
  apply Does.ask (o := .unlinkStale) Says.stable fun _ _ h => h
  · intro w _ r v _ hs he
    cases he
    exact hs
  · exact fun _ => Says.stable

theorem reads_does {o : Op Rest} (hp : (setting Rest t).Stable P) (hm : ∀ w, o.May t w)
    (he : ∀ w c r v, exec t o c w = some (r, v) → v = w) :
    Does t P (Publication.ask o) fun _ => P := by
  apply Does.ask hp fun w _ _ => hm w
  · intro w c r v _ hw hx
    exact he w c r v hx ▸ hw
  · exact fun _ => hp

theorem readOwnerPid_does (hp : (setting Rest t).Stable P) :
    Does t P readOwnerPid fun _ => P := by
  apply reads_does (o := .readOwnerPid) hp fun _ => trivial
  intro w c r v he
  cases he
  rfl

theorem processIsLive_does (hp : (setting Rest t).Stable P) :
    Does t P (processIsLive pid) fun _ => P := by
  apply reads_does (o := .processIsLive pid) hp fun _ => trivial
  intro w c r v he
  simp only [exec, Option.ite_none_left_eq_some, Option.some.injEq] at he
  obtain ⟨_, he⟩ := he
  cases he
  rfl

theorem acquireExactLock_does :
    Does t (Says t false) (acquireExactLock : Script Rest Unit) fun _ => Owns t := by
  refine openLock_does.bind fun file => linked_does ?_
  refine (readOwnerPid_does Says.stable).bind fun currentOwner => ?_
  cases currentOwner with
  | none => exact replaceStaleLock_does
  | some pid =>
    refine (processIsLive_does Says.stable).bind fun live => ?_
    refine (Does.ensure Says.stable).bind fun _ => ?_
    exact replaceStaleLock_does.pre fun _ _ h => h.2

theorem acquire_does : Does t (fun _ => True) (acquire : Script Rest Unit) fun _ _ => True := by
  refine isHeld_does.bind fun held => ?_
  refine Does.pre (P := Says t held) ?_ fun _ _ h => h.1
  apply Does.onlyIf Says.stable
  intro hc
  obtain rfl : held = false := by simpa using hc
  refine acquireExactLock_does.bind fun _ => ?_
  apply Does.ask (o := .setLockHeld true) Owns.stable fun _ _ h => h
  · exact fun _ _ _ _ _ _ _ => trivial
  · exact fun _ => stable_true

theorem releaseExactLock_does : Does t (Owns t) (releaseExactLock pid : Script Rest Unit)
    fun _ _ => True := by
  refine (readOwnerPid_does Owns.stable).bind fun currentOwner => ?_
  by_cases h : currentOwner = some pid
  · simp only [h, ↓reduceIte]
    apply Does.ask (o := .unlinkReleased) Owns.stable fun _ _ h => h
    · exact fun _ _ _ _ _ _ _ => trivial
    · exact fun _ => stable_true
  · simp only [h, ↓reduceIte]
    apply Does.ask (o := .setLockHeld false) Owns.stable fun _ _ _ => trivial
    · exact fun _ _ _ _ _ _ _ => trivial
    · exact fun _ => stable_true

theorem release_does : Does t (fun _ => True) (release : Script Rest Unit) fun _ _ => True := by
  refine isHeld_does.bind fun held => ?_
  cases held with
  | false => exact Does.pre (.pure stable_true fun _ _ => trivial) fun _ _ _ => trivial
  | true =>
    refine Does.pre (P := Owns t) ?_ fun _ _ h => h.2 rfl
    refine Does.bind (Q := fun _ => Owns t) ?_ fun pid => releaseExactLock_does
    apply reads_does (o := .ownerPid) Owns.stable fun _ => trivial
    intro w c r v he
    cases he
    rfl

end Scripts

end AgentBrowser.Publication
