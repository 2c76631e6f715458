import Mathlib.Logic.Function.Basic
import AgentBrowser.Transition

namespace AgentBrowser
set_option autoImplicit true

/-- Where a call of `cancelled` stands. -/
inductive CancelledCall where
  | begun
  /-- The flag was read, and not set. -/
  | unset
  /-- Registered with `notify`, and blocked. -/
  | registered
  /-- Woken, and to return at its next poll. -/
  | notified
  | ended
  | dropped
deriving DecidableEq

/-- Where a call of `cancel` stands. -/
inductive CancelCall where
  | begun
  /-- The flag is set, and `notify_waiters` still to come. -/
  | stored
  | ended
deriving DecidableEq

/-- What `notify_waiters` does to a call of `cancelled`. -/
def CancelledCall.wake : CancelledCall → CancelledCall
  | .registered => .notified
  | call => call

theorem CancelledCall.wake_ne (call : CancelledCall) : call.wake ≠ .registered := by
  cases call <;> simp [wake]

/-- A token with the calls of `cancelled` and `cancel` on it. -/
structure CancellationToken (W C : Type) where
  cancelled : Bool := false
  waiter : W → CancelledCall := fun _ => .begun
  canceller : C → CancelCall := fun _ => .begun

inductive TokenStep (W C : Type) where
  | load (w : W)
  | register (w : W)
  | resume (w : W)
  | drop (w : W)
  | store (c : C)
  | notifyWaiters (c : C)

namespace CancellationToken

variable {W C : Type} [DecidableEq W] [DecidableEq C] {t u v : CancellationToken W C}

def setWaiter (t : CancellationToken W C) (w : W) (call : CancelledCall) :
    CancellationToken W C :=
  { t with waiter := Function.update t.waiter w call }

def setCanceller (t : CancellationToken W C) (c : C) (call : CancelCall) :
    CancellationToken W C :=
  { t with canceller := Function.update t.canceller c call }

/-- One atomic step; a step that does not apply has no successor. A future is only dropped
where it waits to be polled. -/
def next (t : CancellationToken W C) : TokenStep W C → Option (CancellationToken W C)
  | .load w =>
    if t.waiter w = .begun then
      some (t.setWaiter w (if t.cancelled then .ended else .unset))
    else none
  | .register w => if t.waiter w = .unset then some (t.setWaiter w .registered) else none
  | .resume w => if t.waiter w = .notified then some (t.setWaiter w .ended) else none
  | .drop w =>
    if t.waiter w = .begun ∨ t.waiter w = .registered ∨ t.waiter w = .notified then
      some (t.setWaiter w .dropped)
    else none
  | .store c =>
    if t.canceller c = .begun then
      some { t.setCanceller c .stored with cancelled := true }
    else none
  | .notifyWaiters c =>
    if t.canceller c = .stored then
      some { t.setCanceller c .ended with waiter := fun w => (t.waiter w).wake }
    else none

/-- Some call of `cancel` has returned. -/
def Completed (t : CancellationToken W C) : Prop := ∃ c, t.canceller c = .ended

/-- A call of `cancelled` is blocked though one of `cancel` has returned. -/
def Lost (t : CancellationToken W C) : Prop := t.Completed ∧ ∃ w, t.waiter w = .registered

/-- No call of `cancelled` registers when one of `cancel` has returned. -/
def InTime (t : CancellationToken W C) : TokenStep W C → Prop
  | .register _ => ¬ t.Completed
  | _ => True

omit [DecidableEq C] in
theorem Lost.of_setWaiter {w : W} {call : CancelledCall} (hcall : call ≠ .registered)
    (h : (t.setWaiter w call).Lost) : t.Lost := by
  obtain ⟨hcompleted, x, hx⟩ := h
  refine ⟨hcompleted, x, ?_⟩
  have hne : x ≠ w := by
    rintro rfl
    simp only [setWaiter, Function.update_self] at hx
    exact hcall hx
  simpa only [setWaiter, Function.update_of_ne hne] using hx

omit [DecidableEq W] in
theorem Completed.of_setCanceller {c : C} {call : CancelCall} (hcall : call ≠ .ended)
    (h : (t.setCanceller c call).Completed) : t.Completed := by
  obtain ⟨d, hd⟩ := h
  refine ⟨d, ?_⟩
  have hne : d ≠ c := by
    rintro rfl
    simp only [setCanceller, Function.update_self] at hd
    exact hcall hd
  simpa only [setCanceller, Function.update_of_ne hne] using hd

theorem InTime.keeps {step : TokenStep W C} (h : ¬ t.Lost) (hstep : t.InTime step)
    (hnext : t.next step = some u) : ¬ u.Lost := by
  intro hlost
  cases step with
  | load w =>
    obtain ⟨-, ⟨⟩⟩ := Option.ite_none_right_eq_some.mp hnext
    refine h (Lost.of_setWaiter ?_ hlost)
    split <;> decide
  | register w =>
    obtain ⟨-, ⟨⟩⟩ := Option.ite_none_right_eq_some.mp hnext
    exact hstep hlost.1
  | resume w =>
    obtain ⟨-, ⟨⟩⟩ := Option.ite_none_right_eq_some.mp hnext
    exact h (Lost.of_setWaiter (by decide) hlost)
  | drop w =>
    obtain ⟨-, ⟨⟩⟩ := Option.ite_none_right_eq_some.mp hnext
    exact h (Lost.of_setWaiter (by decide) hlost)
  | store c =>
    obtain ⟨-, ⟨⟩⟩ := Option.ite_none_right_eq_some.mp hnext
    obtain ⟨hcompleted, w, hw⟩ := hlost
    exact h ⟨Completed.of_setCanceller (by decide) hcompleted, w, hw⟩
  | notifyWaiters c =>
    -- nobody is left blocked when the waiters have been notified
    obtain ⟨-, ⟨⟩⟩ := Option.ite_none_right_eq_some.mp hnext
    obtain ⟨-, w, hw⟩ := hlost
    exact (t.waiter w).wake_ne hw

/-- A call of `cancelled` that registers too late is lost. -/
theorem lost_of_late {step : TokenStep W C} (hstep : ¬ t.InTime step)
    (hnext : t.next step = some u) : u.Lost := by
  cases step with
  | register w =>
    obtain ⟨-, ⟨⟩⟩ := Option.ite_none_right_eq_some.mp hnext
    refine ⟨not_not.mp hstep, w, ?_⟩
    simp only [setWaiter, Function.update_self]
  | _ => exact absurd trivial hstep

/-- The states that the steps reach, the first one included. -/
def Reaches (t : CancellationToken W C) (steps : List (TokenStep W C))
    (u : CancellationToken W C) : Prop :=
  ∃ earlier, earlier <+: steps ∧ Transition.Free next earlier t u

theorem Reaches.cons {step : TokenStep W C} {steps : List (TokenStep W C)}
    (hnext : t.next step = some u) (h : u.Reaches steps v) : t.Reaches (step :: steps) v := by
  obtain ⟨earlier, hearlier, hfree⟩ := h
  exact ⟨step :: earlier, List.cons_prefix_cons.mpr ⟨rfl, hearlier⟩, trivial, u, hnext, hfree⟩

theorem Reaches.here {steps : List (TokenStep W C)} : t.Reaches steps t :=
  ⟨[], List.nil_prefix, rfl⟩

theorem inTime_iff {steps : List (TokenStep W C)} (hrun : Transition.Free next steps t v)
    (h : ¬ t.Lost) :
    (∀ u, t.Reaches steps u → ¬ u.Lost) ↔ Transition.Runs next InTime steps t v := by
  induction steps generalizing t with
  | nil =>
    refine ⟨fun _ => hrun, fun _ u hu => ?_⟩
    obtain ⟨earlier, hearlier, hfree⟩ := hu
    obtain rfl := List.prefix_nil.mp hearlier
    obtain rfl : t = u := hfree
    exact h
  | cons step steps ih =>
    obtain ⟨-, s, hnext, hrest⟩ := hrun
    constructor
    · intro hall
      have hs : ¬ s.Lost := hall s (Reaches.here.cons hnext)
      have hstep : t.InTime step := by
        by_contra hlate
        exact hs (lost_of_late hlate hnext)
      exact ⟨hstep, s, hnext, (ih hrest hs).mp fun u hu => hall u (hu.cons hnext)⟩
    · rintro ⟨hstep, s', hnext', hrest'⟩ u ⟨earlier, hearlier, hfree⟩
      obtain rfl : s = s' := Option.some.inj (hnext.symm.trans hnext')
      cases earlier with
      | nil =>
        obtain rfl : t = u := hfree
        exact h
      | cons first earlier =>
        obtain ⟨rfl, hbefore⟩ := List.cons_prefix_cons.mp hearlier
        obtain ⟨-, s', hnext', hfree⟩ := hfree
        obtain rfl : s = s' := Option.some.inj (hnext.symm.trans hnext')
        exact (ih hrest (hstep.keeps h hnext)).mpr hrest' u ⟨earlier, hbefore, hfree⟩

/-- No wake-up is lost in a run exactly when every call of `cancelled` registers before the
first call of `cancel` returns. -/
theorem no_wakeup_lost_iff {steps : List (TokenStep W C)}
    (hrun : Transition.Free next steps {} v) :
    (∀ u : CancellationToken W C, Reaches {} steps u → ¬ u.Lost) ↔
      Transition.Runs next InTime steps {} v := by
  refine inTime_iff hrun ?_
  rintro ⟨-, w, hw⟩
  cases hw

/-- A call of `cancelled` that is told of a cancellation between its check and its return. -/
theorem no_wakeup_lost_told :
    ¬ ∃ u : CancellationToken Unit Unit,
      Reaches {} [.load (), .register (), .store (), .notifyWaiters (), .resume ()] u ∧
        u.Lost := by
  have hrun : ∃ v, Transition.Runs next InTime
      [TokenStep.load (), .register (), .store (), .notifyWaiters (), .resume ()]
      ({} : CancellationToken Unit Unit) v := by
    refine ⟨_, trivial, _, rfl, ?_, _, rfl, trivial, _, rfl, trivial, _, rfl, trivial, _, rfl,
      rfl⟩
    rintro ⟨c, hc⟩
    cases hc
  obtain ⟨v, hrun⟩ := hrun
  rintro ⟨u, hreached, hlost⟩
  exact (no_wakeup_lost_iff hrun.free).mpr hrun u hreached hlost

/-- A cancellation between the check of the flag and the registration wakes nobody. -/
theorem wakeup_lost_between :
    ∃ u : CancellationToken Unit Unit,
      Reaches {} [.load (), .store (), .notifyWaiters (), .register ()] u ∧ u.Lost :=
  ⟨_, ⟨_, List.prefix_refl _, trivial, _, rfl, trivial, _, rfl, trivial, _, rfl,
    trivial, _, rfl, rfl⟩, ⟨(), rfl⟩, (), rfl⟩

end CancellationToken
end AgentBrowser
