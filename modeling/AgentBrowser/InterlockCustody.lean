import AgentBrowser.PublicationInterlock

namespace AgentBrowser.Interlock
open Durable
set_option autoImplicit true

/-- The receipt file is `r`. -/
def Recorded (r : Receipt) (w : World) : Prop := w.receipt = some (.full r)

/-- No file names the publication. -/
def Unmarked (id : String) (w : World) : Prop := ∀ i, w.payload i ≠ some id

/-- The lock path has no marker of the receipt. -/
def Free (r : Receipt) (w : World) : Prop :=
  ∀ i, w.markers (.lock r.lockPath) = some i → w.payload i ≠ some r.id

/-- The timer is as it was left, or the receipt says how. Identifiers belong to one receipt, and
only native ones mark files. -/
structure Inv (w : World) : Prop where
  settled : (∀ r, ¬ Recorded r w) → w.timer = w.intended
  recorded : ∀ r, Recorded r w → r.priorTimerState = w.intended ∧ r.id ∈ w.ids ∧
    (r.version ≠ 2 → Unmarked r.id w)
  handles : ∀ k h, w.handles k = some h → h.receipt.id ∈ w.ids ∧
    (h.native = false → Unmarked h.receipt.id w) ∧
    ∀ r, Recorded r w → r.id = h.receipt.id → r = h.receipt
  named : ∀ i id, w.payload i = some id → id ∈ w.ids
  removed : ∀ e ∈ w.removed, e.2 = some e.1

def setting : Setting Op Op.Ret Choice World where
  exec := exec
  Inv := Inv
  Rely := Eq
  Guar := fun _ _ => True
  refl := fun _ => rfl

/-- From `P` the script keeps the invariant, and a value it returns satisfies `Q`. -/
def Does (P : World → Prop) (p : Script α) (Q : α → World → Prop) : Prop :=
  setting.Triple P p (Outcome Q fun _ _ => True)

section Rules
variable {P P' : World → Prop} {Q : α → World → Prop} {T : β → World → Prop}
  {p : Script α} {f : α → Script β}

theorem Does.bind (h : Does P p Q) (hf : ∀ a, Does (Q a) (f a) T) : Does P (p >>= f) T :=
  Setting.Triple.seq h hf fun _ _ _ _ => trivial

theorem Does.pre (h : Does P p Q) (hp : ∀ w, Inv w → P' w → P w) : Does P' p Q :=
  h.conseq hp fun _ _ _ hq => hq

theorem Does.post {Q' : α → World → Prop} (h : Does P p Q)
    (hq : ∀ a w, Inv w → Q a w → Q' a w) : Does P p Q' :=
  Setting.Triple.weaken h (fun _ _ hw => hw) hq fun _ _ _ _ => trivial

theorem Does.pure (h : ∀ w, P w → Q a w) : Does P (.pure a) Q :=
  Setting.Triple.pure (Stable.eq _) fun w _ hw => h w hw

theorem Does.fail : Does P (.fail e : Script α) Q :=
  Setting.Triple.fail (Stable.eq _) fun _ _ _ => trivial

theorem Does.ensure : Does P (.ensure b e) fun _ w => b = true ∧ P w := by
  cases b with
  | true => exact .pure fun _ hw => ⟨rfl, hw⟩
  | false => exact .fail

theorem Does.given {q : Prop} (h : q → Does P p Q) : Does (fun w => q ∧ P w) p Q :=
  Setting.Triple.and_left h

theorem Does.onlyIf {p : Script Unit} {Q : World → Prop} (h : b = true → Does P p fun _ => Q)
    (hn : b = false → ∀ w, P w → Q w) : Does P (.onlyIf b p) fun _ => Q := by
  cases b with
  | true => exact h rfl
  | false => exact .pure (hn rfl)

theorem Does.op {o : Op} {k : o.Ret → Except String α}
    (h : ∀ w c x v, Inv w → P w → exec o c w = some (x, v) →
      Inv v ∧ ∀ a, k x = .ok a → Q a v) : Does P (.call o fun x => .ofExcept (k x)) Q := by
  apply Setting.Triple.call (Stable.eq _)
  · intro w hi hw c x v he
    obtain ⟨hv, hq⟩ := h w c x v hi hw he
    refine ⟨hv, trivial, ?_⟩
    cases hk : k x with
    | ok a => exact hq a hk
    | error e => trivial
  · exact fun _ => Stable.eq _

/-- The rule for an operation that cannot fail. -/
theorem Does.ask {o : Op} {Q : o.Ret → World → Prop}
    (h : ∀ w c x v, Inv w → P w → exec o c w = some (x, v) → Inv v ∧ Q x v) :
    Does P (.call o .pure) Q := by
  apply Setting.Triple.request (Stable.eq _)
  · intro w hi hw c x v he
    obtain ⟨hv, hq⟩ := h w c x v hi hw he
    exact ⟨hv, trivial, hq⟩
  · exact fun _ => Stable.eq _

/-- An operation that fails has had its effect or not; one that succeeds has. -/
theorem settle_cases {c : Choice} {w done v : World} {r : α} {x : Except String α}
    (h : c.settle w done r = (x, v)) : (x = .ok r ∧ v = done) ∨
      ∃ e, x = .error e ∧ (v = w ∨ v = done) := by
  simp only [Choice.settle] at h
  split at h
  · cases h
    exact .inl ⟨rfl, rfl⟩
  · cases h
    exact .inr ⟨_, rfl, .inl rfl⟩
  · cases h
    exact .inr ⟨_, rfl, .inr rfl⟩

/-- The rule for an operation with one effect. -/
theorem Does.effect {o : Op} {k : o.Ret → Except String α} {d : World → Choice → World}
    {r : World → Choice → α}
    (he : ∀ w c x v, P w → exec o c w = some (x, v) → (∃ e, k x = .error e ∧ v = w) ∨
      c.settle w (d w c) (r w c) = (k x, v))
    (hd : ∀ w c, Inv w → P w → Inv (d w c) ∧ Q (r w c) (d w c)) :
    Does P (.call o fun x => .ofExcept (k x)) Q := by
  apply Does.op
  intro w c x v hi hw hx
  obtain ⟨hi', hq⟩ := hd w c hi hw
  rcases he w c x v hw hx with ⟨e, hk, rfl⟩ | hs
  · exact ⟨hi, fun a ha => by rw [hk] at ha; cases ha⟩
  · rcases settle_cases hs with ⟨hk, rfl⟩ | ⟨e, hk, hv⟩
    · refine ⟨hi', fun a ha => ?_⟩
      rw [hk] at ha
      cases ha
      exact hq
    · refine ⟨?_, fun a ha => by rw [hk] at ha; cases ha⟩
      rcases hv with rfl | rfl
      · exact hi
      · exact hi'

end Rules

section Operations
variable {P : World → Prop}

theorem Does.reads {o : Op} {k : o.Ret → Except String α} {Q : α → World → Prop}
    (h : ∀ w c x v, exec o c w = some (x, v) → v = w ∧ ∀ a, k x = .ok a → Q a w) :
    Does P (.call o fun x => .ofExcept (k x)) fun a w => P w ∧ Q a w := by
  apply Does.op
  intro w c x v hi hw he
  obtain ⟨rfl, hq⟩ := h w c x v he
  exact ⟨hi, fun a ha => ⟨hw, hq a ha⟩⟩

theorem settle_same {α : Type} {c : Choice} {w v : World} {r : α} {x : Except String α}
    (h : c.settle w w r = (x, v)) : v = w ∧ ∀ a, x = .ok a → a = r := by
  rcases settle_cases h with ⟨rfl, rfl⟩ | ⟨e, rfl, hv⟩
  · refine ⟨rfl, ?_⟩
    rintro _ ⟨⟩
    rfl
  · exact ⟨hv.elim id id, nofun⟩

theorem showProperty_does : Does P (showProperty unit property) fun s w =>
    P w ∧ (unit = interlockTimer ∧ property = "ActiveState" → s = w.timer) := by
  apply Does.reads
  intro w c x v he
  obtain ⟨hv, hx⟩ := settle_same (Option.some.inj he)
  refine ⟨hv, fun a ha hu => ?_⟩
  rw [hx a ha, if_pos hu]

theorem state_does : Does P (state unit) fun s w =>
    P w ∧ (unit = interlockTimer → s = w.timer) := by
  refine showProperty_does.bind fun loaded => Does.ensure.bind fun _ => ?_
  refine Does.post showProperty_does ?_
  exact fun s w _ h => ⟨h.1.2.1, fun hu => h.2 ⟨hu, rfl⟩⟩

/-- Asking for a unit's state changes nothing. -/
theorem idleService_does : Does P idleService fun _ => P :=
  state_does.bind fun _ => Does.ensure.post fun _ _ _ h => h.2.1

theorem readReceipt_does : Does P readReceipt fun r w => P w ∧ Recorded r w := by
  apply Does.reads
  intro w c x v he
  cases he
  refine ⟨rfl, fun a ha => ?_⟩
  simp only [World.readReceipt] at ha
  split at ha
  · rename_i r hr
    cases hs : c.settle w w r with
    | mk y z =>
      rw [hs] at ha
      rw [(settle_same hs).2 a ha]
      exact hr
  · cases ha
  · cases ha

theorem ownerIsAlive_does : Does P (ownerIsAlive pid) fun _ => P := by
  refine Does.post (Does.reads (Q := fun _ _ => True) ?_) fun _ _ _ h => h.1
  intro w c x v he
  exact ⟨(settle_same (Option.some.inj he)).1, fun _ _ => trivial⟩

theorem flush_does : Does P flush fun _ => P := by
  refine Does.post (Does.reads (Q := fun _ _ => True) ?_) fun _ _ _ h => h.1
  intro w c x v he
  exact ⟨(settle_same (Option.some.inj he)).1, fun _ _ => trivial⟩

/-- There is a marker of the receipt. -/
def Marked (r : Receipt) (path : MarkerPath) (w : World) : Prop :=
  ∃ i, w.markers path = some i ∧ w.payload i = some r.id

theorem verify_does : Does P (verify r path) fun _ w => P w ∧ Marked r path w := by
  refine Does.bind (Does.reads (Q := fun found w =>
    w.markers path = some found.1 ∧ found.2 = w.payload found.1) ?_) fun found => ?_
  · intro w c x v he
    cases he
    refine ⟨rfl, fun a ha => ?_⟩
    simp only [World.inspect] at ha
    split at ha
    · rename_i file hf
      cases hs : c.settle w w (file, w.payload file) with
      | mk y z =>
        rw [hs] at ha
        rw [(settle_same hs).2 a ha]
        exact ⟨hf, rfl⟩
    · cases ha
  · refine Does.post Does.ensure ?_
    rintro _ w _ ⟨hb, hp, hm, hpay⟩
    simp only [Bool.and_eq_true, decide_eq_true_eq] at hb
    exact ⟨hp, found.1, hm, hpay ▸ hb.2⟩

/-- Only a recorded intent lets the timer be changed. -/
theorem systemctl_does (hr : ∀ w, P w → ∃ r, Recorded r w)
    (hp : ∀ w s, P w → P { w with timer := s }) : Does P (systemctl action) fun _ => P := by
  apply Does.effect (d := fun w c => { w with timer := c.text }) (r := fun _ _ => ())
  · exact fun w c x v _ he => .inr (Option.some.inj he)
  · intro w c hi hw
    refine ⟨⟨?_, hi.recorded, hi.handles, hi.named, hi.removed⟩, hp w _ hw⟩
    intro hn
    obtain ⟨r, hr⟩ := hr w hw
    exact absurd hr (hn r)

theorem setHandle_handles {w : World} {f : Handle → Handle}
    (h : (w.setHandle k f).handles j = some x) :
    ∃ y, w.handles j = some y ∧ (x = y ∨ x = f y) := by
  simp only [World.setHandle] at h
  split at h
  · obtain ⟨y, hy, rfl⟩ := Option.map_eq_some_iff.mp h
    exact ⟨y, hy, .inr rfl⟩
  · exact ⟨x, h, .inl rfl⟩

theorem Inv.setHandle {w : World} {f : Handle → Handle} (hi : Inv w)
    (hf : ∀ h, (f h).receipt = h.receipt ∧ (f h).native = h.native) : Inv (w.setHandle k f) := by
  refine ⟨hi.settled, hi.recorded, ?_, hi.named, hi.removed⟩
  intro j x hx
  obtain ⟨y, hy, rfl | rfl⟩ := setHandle_handles hx
  · exact hi.handles j x hy
  · obtain ⟨h₁, h₂, h₃⟩ := hi.handles j y hy
    rw [(hf y).1, (hf y).2]
    exact ⟨h₁, h₂, h₃⟩

theorem assign_does {f : Handle → Handle}
    (hf : ∀ h, (f h).receipt = h.receipt ∧ (f h).native = h.native)
    (hp : ∀ w, P w → P (w.setHandle k f)) : Does P (assign k f) fun _ => P := by
  apply Does.ask
  intro w c x v hi hw he
  cases he
  exact ⟨hi.setHandle hf, hp w hw⟩

theorem handle_does : Does P (handle k) fun h w => P w ∧ w.handles k = some h := by
  apply Does.ask
  intro w c x v hi hw he
  obtain ⟨h, hh, he⟩ := Option.map_eq_some_iff.mp he
  cases he
  exact ⟨hi, hw, hh⟩

/-- Markers come and go at the lock path; what the files say stays. -/
theorem Inv.setMarker {w : World} (hi : Inv w) : Inv (w.setMarker path file) :=
  ⟨hi.settled, hi.recorded, hi.handles, hi.named, hi.removed⟩

end Operations

end AgentBrowser.Interlock
